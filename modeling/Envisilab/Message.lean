import Envisilab.Wire

/-!
# Messages over a connection

The four messages of `core/message.go`, their `Write` and `Read` methods, and the `net.Conn`
they use. A connection's incoming data is the list of chunks in which TCP delivers it: a
`Read` into a buffer of `n` bytes returns at most `n` bytes of the next chunk (`connRead`), and
`make([]byte, n)` leaves the rest of the buffer zero (`fill`).

The four `Write` methods differ only in their `Length` constant and payload, and the four
`Read` methods only in how they decode the payload: `writeFrame` and `readFrame` are the parts
they share. `readFrame_writeFrame` is the round trip of a frame on a connection that returns
every requested byte count in full (`whole`), and `read_write_round_trip` that of each message.

`ReadHeader` and the payload read make one `Read` call each and never loop, so what they
decode depends on where TCP splits the stream (`fragmented_header_misread`). A frame of another
type is not an error either: `Read` returns `nil` after its header (`foreign_frame_read_nil`).
-/

namespace Envisilab

/-- `MsgTypeSyncRequest`. -/
def msgTypeSyncRequest : UInt8 := 1
/-- `MsgTypeSyncResponse`. -/
def msgTypeSyncResponse : UInt8 := 2
/-- `MsgTypeDataRequest`. -/
def msgTypeDataRequest : UInt8 := 3
/-- `MsgTypeDataResponse`. -/
def msgTypeDataResponse : UInt8 := 4

/-- An error a `Read` method returns: `io.EOF` from the connection, or the error `ReadHeader`
makes of a wrong magic byte or version. -/
inductive WireError
  | eof
  | badHeader
deriving DecidableEq, Repr

/-! ## The connection -/

/-- `c.Read(buf)` with `len(buf) = n`, on a connection whose data arrives as the chunks `cs`: at
most `n` bytes of the next chunk, the rest of it left for the next call. A read of no bytes
returns at once; with no data left the read returns `io.EOF`. -/
def connRead (n : Nat) : List Bytes → Bytes × Option WireError × List Bytes
  | [] => ([], if n = 0 then none else some .eof, [])
  | c :: cs =>
    if n = 0 then ([], none, c :: cs)
    else (c.take n, none, if n < c.length then c.drop n :: cs else cs)

/-- `make([]byte, n)` after a `Read` has filled its front with `b`. -/
def fill (n : Nat) (b : Bytes) : Bytes := b ++ List.replicate (n - b.length) 0

/-- A connection that returns every requested byte count in full: all of `b` in one chunk. -/
def whole (b : Bytes) : List Bytes := if b = [] then [] else [b]

@[simp] lemma fill_of_length {n : Nat} {b : Bytes} (h : b.length = n) : fill n b = b := by
  simp [fill, h]

/-- On a connection that returns byte counts in full, a read of `b.length` bytes returns `b`. -/
lemma connRead_whole (b rest : Bytes) :
    connRead b.length (whole (b ++ rest)) = (b, none, whole rest) := by
  rcases b with _ | ⟨x, b⟩
  · simp [connRead, whole]; split_ifs <;> simp [connRead]
  · by_cases hr : rest = []
    · simp [connRead, whole, hr]
    · simp [connRead, whole, hr, List.length_pos.2 hr]

/-! ## Frames -/

/-- `ReadHeader`: one `Read` of up to 24 bytes. With fewer than 8 bytes, or an error, it returns
that error (`nil` for a short read) and leaves the header as it was; else it decodes the
24-byte buffer, zeros included, and checks the magic byte and the version. -/
def readHeader (hdr : Header) (c : List Bytes) : Header × Option WireError × List Bytes :=
  let r := connRead 24 c
  if r.1.length < 8 ∨ r.2.1.isSome then (hdr, r.2.1, r.2.2)
  else
    let hdr := Header.decode (fill 24 r.1)
    (hdr, if hdr.magic ≠ 101 ∨ hdr.version ≠ 1 then some .badHeader else none, r.2.2)

/-- What the four `Read` methods share: `ReadHeader`, then a return with its error when it
failed or the header is not of type `msgType` (`nil` in that case), else one `Read` of `Length`
bytes into a buffer of that size. The header read, the error to return or the payload buffer,
and the rest of the connection. -/
def readFrame (msgType : UInt8) (hdr : Header) (c : List Bytes) :
    Header × (Option WireError ⊕ Bytes) × List Bytes :=
  let r := readHeader hdr c
  if r.2.1.isSome ∨ r.1.msgType ≠ msgType then (r.1, .inl r.2.1, r.2.2)
  else
    let p := connRead r.1.length.toNat r.2.2
    if p.2.1.isSome then (r.1, .inl p.2.1, p.2.2)
    else (r.1, .inr (fill r.1.length.toNat p.1), p.2.2)

/-- What the four `Write` methods share: set `Length`, then send the header and the payload. -/
def writeFrame (length : UInt32) (hdr : Header) (payload : Bytes) : Header × Bytes :=
  let hdr := { hdr with length := length }
  (hdr, hdr.encode ++ payload)

/-- `makeHeader`: magic byte `'e'`, `Version`, the nil UUID and `Length` 0. -/
def makeHeader (msgType userAgent : UInt8) : Header := ⟨101, 1, msgType, userAgent, UUID.nil, 0⟩

/-- A header the receiver accepts: magic byte `'e'` and version 1. -/
def Header.Valid (h : Header) : Prop := h.magic = 101 ∧ h.version = 1

/-- The header of a frame is its first 24 bytes, with `Length` set. -/
lemma writeFrame_header (length : UInt32) (hdr : Header) {payload : Bytes} {n : Nat}
    (hn : payload.length = n) :
    Header.decode ((writeFrame length hdr payload).2.take 24) = { hdr with length := length } ∧
      (writeFrame length hdr payload).2.length = 24 + n := by
  subst hn
  simp [writeFrame, List.take_left' (Header.length_encode _)]

/-- `ReadHeader` from a connection that returns byte counts in full reads back a valid
header and leaves the rest unread. -/
lemma readHeader_whole (old : Header) {h : Header} (hv : h.Valid) (rest : Bytes) :
    readHeader old (whole (h.encode ++ rest)) = (h, none, whole rest) := by
  have hc := connRead_whole h.encode rest
  rw [Header.length_encode] at hc
  simp [readHeader, hc, hv.1, hv.2, fill_of_length h.length_encode]

/-- The round trip of a frame, when the connection returns byte counts in full and `Length`
is the payload's size. -/
theorem readFrame_writeFrame (old : Header) {hdr : Header} (hv : hdr.Valid) {msgType : UInt8}
    (ht : hdr.msgType = msgType) {length : UInt32} {payload : Bytes}
    (hl : length.toNat = payload.length) (rest : Bytes) :
    readFrame msgType old (whole ((writeFrame length hdr payload).2 ++ rest)) =
      ((writeFrame length hdr payload).1, .inr payload, whole rest) := by
  subst ht
  have hv' : ({ hdr with length := length } : Header).Valid := hv
  rw [writeFrame, List.append_assoc, readFrame, readHeader_whole old hv' (payload ++ rest)]
  simp [hl, connRead_whole]

/-! ## The four messages -/

/-- A `SyncRequestMsg`. -/
structure SyncRequestMsg where
  hdr : Header
  serviceUUID : UUID
  location : Location
deriving DecidableEq

/-- A `SyncResponseMsg`; `TokenId` is a `uuid.UUID`. -/
structure SyncResponseMsg where
  hdr : Header
  serviceUUID : UUID
  tokenId : UUID
deriving DecidableEq

/-- A `DataRequestMsg`. -/
structure DataRequestMsg where
  hdr : Header
  location : Location
deriving DecidableEq

/-- A `DataResponseMsg`, with the contents of its `Data` buffer. -/
structure DataResponseMsg where
  hdr : Header
  data : Bytes
deriving DecidableEq

/-- `SyncRequestMsg.Write`: `Length = 48`, then the service UUID and the location. The message
with its `Length` set, and the bytes sent. -/
def SyncRequestMsg.write (m : SyncRequestMsg) : SyncRequestMsg × Bytes :=
  let f := writeFrame 48 m.hdr (m.serviceUUID.bytes ++ m.location.encode)
  ({ m with hdr := f.1 }, f.2)

/-- `SyncRequestMsg.Read`. -/
def SyncRequestMsg.read (m : SyncRequestMsg) (c : List Bytes) :
    SyncRequestMsg × Option WireError × List Bytes :=
  let f := readFrame msgTypeSyncRequest m.hdr c
  match f.2.1 with
  | .inl err => ({ m with hdr := f.1 }, err, f.2.2)
  | .inr buf =>
    let su := readField 16 UUID.ofBytes m.serviceUUID buf
    ({ m with hdr := f.1, serviceUUID := su.1, location := (m.location.deserialize su.2).1 },
      none, f.2.2)

/-- `SyncResponseMsg.Write`: `Length = 32`, then the service UUID and the token. -/
def SyncResponseMsg.write (m : SyncResponseMsg) : SyncResponseMsg × Bytes :=
  let f := writeFrame 32 m.hdr (m.serviceUUID.bytes ++ m.tokenId.bytes)
  ({ m with hdr := f.1 }, f.2)

/-- `SyncResponseMsg.Read`. -/
def SyncResponseMsg.read (m : SyncResponseMsg) (c : List Bytes) :
    SyncResponseMsg × Option WireError × List Bytes :=
  let f := readFrame msgTypeSyncResponse m.hdr c
  match f.2.1 with
  | .inl err => ({ m with hdr := f.1 }, err, f.2.2)
  | .inr buf =>
    let su := readField 16 UUID.ofBytes m.serviceUUID buf
    ({ m with
        hdr := f.1
        serviceUUID := su.1
        tokenId := (readField 16 UUID.ofBytes m.tokenId su.2).1 }, none, f.2.2)

/-- `DataRequestMsg.Write`: `Length = 32`, then the location. -/
def DataRequestMsg.write (m : DataRequestMsg) : DataRequestMsg × Bytes :=
  let f := writeFrame 32 m.hdr m.location.encode
  ({ m with hdr := f.1 }, f.2)

/-- `DataRequestMsg.Read`. -/
def DataRequestMsg.read (m : DataRequestMsg) (c : List Bytes) :
    DataRequestMsg × Option WireError × List Bytes :=
  let f := readFrame msgTypeDataRequest m.hdr c
  match f.2.1 with
  | .inl err => ({ m with hdr := f.1 }, err, f.2.2)
  | .inr buf => ({ m with hdr := f.1, location := (m.location.deserialize buf).1 }, none, f.2.2)

/-- `DataResponseMsg.Write`: `Length = uint32(len(Data))`, then the data. -/
def DataResponseMsg.write (m : DataResponseMsg) : DataResponseMsg × Bytes :=
  let f := writeFrame (UInt32.ofNat m.data.length) m.hdr m.data
  ({ m with hdr := f.1 }, f.2)

/-- `DataResponseMsg.Read`: the data is the whole payload buffer. -/
def DataResponseMsg.read (m : DataResponseMsg) (c : List Bytes) :
    DataResponseMsg × Option WireError × List Bytes :=
  let f := readFrame msgTypeDataResponse m.hdr c
  match f.2.1 with
  | .inl err => ({ m with hdr := f.1 }, err, f.2.2)
  | .inr buf => ({ m with hdr := f.1, data := buf }, none, f.2.2)

/-! ## Constructors -/

/-- `MakeSyncRequestMsg`. -/
def makeSyncRequestMsg (clientUUID serviceUUID : UUID) (loc : Location) : SyncRequestMsg :=
  ⟨{ makeHeader msgTypeSyncRequest 0 with uuid := clientUUID }, serviceUUID, loc⟩

/-- `MakeSyncResponseMsg`: the service UUID is left nil. -/
def makeSyncResponseMsg (clientUUID tokenId : UUID) : SyncResponseMsg :=
  ⟨{ makeHeader msgTypeSyncResponse 0 with uuid := clientUUID }, UUID.nil, tokenId⟩

/-- `MakeDataRequestMsg`. -/
def makeDataRequestMsg (tokenId : UUID) (loc : Location) : DataRequestMsg :=
  ⟨{ makeHeader msgTypeDataRequest 0 with uuid := tokenId }, loc⟩

/-- `MakeDataResponseMsg`: an empty data buffer. -/
def makeDataResponseMsg (tokenId : UUID) : DataResponseMsg :=
  ⟨{ makeHeader msgTypeDataResponse 0 with uuid := tokenId }, []⟩

/-! ## Round trips -/

section RoundTrip

variable (rest : Bytes)

/-- `Read` of what `Write` sent returns the written message and leaves the rest unread; the
last three lemmas are the same for the other messages. -/
lemma SyncRequestMsg.read_write {m : SyncRequestMsg} (hv : m.hdr.Valid)
    (ht : m.hdr.msgType = msgTypeSyncRequest) (m₀ : SyncRequestMsg) :
    m₀.read (whole (m.write.2 ++ rest)) = (m.write.1, none, whole rest) := by
  have hl : (48 : UInt32).toNat = (m.serviceUUID.bytes ++ m.location.encode).length := by
    simp [m.serviceUUID.length_bytes]
  simp [SyncRequestMsg.read, SyncRequestMsg.write, readFrame_writeFrame m₀.hdr hv ht hl rest]

lemma SyncResponseMsg.read_write {m : SyncResponseMsg} (hv : m.hdr.Valid)
    (ht : m.hdr.msgType = msgTypeSyncResponse) (m₀ : SyncResponseMsg) :
    m₀.read (whole (m.write.2 ++ rest)) = (m.write.1, none, whole rest) := by
  have hl : (32 : UInt32).toNat = (m.serviceUUID.bytes ++ m.tokenId.bytes).length := by
    simp [m.serviceUUID.length_bytes, m.tokenId.length_bytes]
  have hu := UUID.readField_bytes m₀.tokenId m.tokenId []
  simp only [List.append_nil] at hu
  simp [SyncResponseMsg.read, SyncResponseMsg.write, readFrame_writeFrame m₀.hdr hv ht hl rest, hu]

lemma DataRequestMsg.read_write {m : DataRequestMsg} (hv : m.hdr.Valid)
    (ht : m.hdr.msgType = msgTypeDataRequest) (m₀ : DataRequestMsg) :
    m₀.read (whole (m.write.2 ++ rest)) = (m.write.1, none, whole rest) := by
  have hl : (32 : UInt32).toNat = m.location.encode.length := by simp
  simp [DataRequestMsg.read, DataRequestMsg.write, readFrame_writeFrame m₀.hdr hv ht hl rest]

lemma DataResponseMsg.read_write {m : DataResponseMsg} (hv : m.hdr.Valid)
    (ht : m.hdr.msgType = msgTypeDataResponse) (hd : m.data.length < 2 ^ 32)
    (m₀ : DataResponseMsg) :
    m₀.read (whole (m.write.2 ++ rest)) = (m.write.1, none, whole rest) := by
  have hl : (UInt32.ofNat m.data.length).toNat = m.data.length := UInt32.toNat_ofNat_of_lt hd
  simp [DataResponseMsg.read, DataResponseMsg.write, readFrame_writeFrame m₀.hdr hv ht hl rest]

end RoundTrip

/-- A valid header of another type ends the frame read: `ReadHeader`'s `nil` is returned, and
nothing after the header is read. -/
lemma readFrame_foreign (old : Header) {h : Header} (hv : h.Valid) {msgType : UInt8}
    (ht : h.msgType ≠ msgType) (rest : Bytes) :
    readFrame msgType old (whole (h.encode ++ rest)) = (h, .inl none, whole rest) := by
  simp [readFrame, readHeader_whole old hv rest, ht]

/-- A first chunk of fewer than 8 bytes is a short read, which `ReadHeader` does not count as
an error: a message whose old header is of another type, such as a zero value, returns `nil`
with nothing decoded and the chunk consumed. -/
lemma readFrame_short (old : Header) {msgType : UInt8} (ht : old.msgType ≠ msgType) {b : Bytes}
    (hb : b.length < 8) (cs : List Bytes) :
    readFrame msgType old (b :: cs) = (old, .inl none, cs) := by
  have hb' : ¬24 < b.length := by omega
  simp [readFrame, readHeader, connRead, List.take_of_length_le (by omega : b.length ≤ 24), hb,
    hb', ht]

/-- Each `Read` method, given a frame of another type with a valid header from a connection
that returns byte counts in full, returns `nil`. It stores the foreign header, leaves every
payload field as it was, and leaves the foreign payload on the connection. -/
theorem foreign_frame_read_nil {h : Header} (hv : h.Valid) (rest : Bytes) :
    (h.msgType ≠ msgTypeSyncRequest → ∀ m : SyncRequestMsg,
      m.read (whole (h.encode ++ rest)) = ({ m with hdr := h }, none, whole rest)) ∧
    (h.msgType ≠ msgTypeSyncResponse → ∀ m : SyncResponseMsg,
      m.read (whole (h.encode ++ rest)) = ({ m with hdr := h }, none, whole rest)) ∧
    (h.msgType ≠ msgTypeDataRequest → ∀ m : DataRequestMsg,
      m.read (whole (h.encode ++ rest)) = ({ m with hdr := h }, none, whole rest)) ∧
    (h.msgType ≠ msgTypeDataResponse → ∀ m : DataResponseMsg,
      m.read (whole (h.encode ++ rest)) = ({ m with hdr := h }, none, whole rest)) :=
  ⟨fun ht m => by simp [SyncRequestMsg.read, readFrame_foreign m.hdr hv ht rest],
    fun ht m => by simp [SyncResponseMsg.read, readFrame_foreign m.hdr hv ht rest],
    fun ht m => by simp [DataRequestMsg.read, readFrame_foreign m.hdr hv ht rest],
    fun ht m => by simp [DataResponseMsg.read, readFrame_foreign m.hdr hv ht rest]⟩

/-- The bytes of a data request read where a sync request is expected: `SyncRequestMsg.Read`
returns `nil`, and the request's location is left unread. -/
theorem dataRequest_read_as_syncRequest :
    (let d := makeDataRequestMsg UUID.nil ⟨0, 0, 0, 0, 0⟩
    let h := d.write.1.hdr
    let m := makeSyncRequestMsg UUID.nil UUID.nil ⟨0, 0, 0, 0, 0⟩
    h.Valid ∧ h.msgType ≠ msgTypeSyncRequest ∧
      m.read (whole (h.encode ++ d.location.encode)) =
        ({ m with hdr := h }, none, whole d.location.encode)) :=
  ⟨⟨rfl, rfl⟩, by decide, (foreign_frame_read_nil ⟨rfl, rfl⟩ _).1 (by decide) _⟩

/-! ## Fragmentation -/

/-- A sync request whose first 8 bytes arrive in a chunk of their own. `ReadHeader` decodes
those 8 bytes and 16 zeros, so `Length` reads as 0, and `Read` returns `nil` without decoding
the payload, leaving 64 bytes on the connection. The same bytes in one chunk read back whole,
also with `nil`. -/
theorem fragmented_header_misread :
    (let m := makeSyncRequestMsg UUID.nil UUID.nil ⟨0, 0, 0, 0, 0⟩
    let w := m.write.2
    (m.read [w]).2.1 = none ∧ (m.read [w.take 8, w.drop 8]).2.1 = none ∧
      (m.read [w]).1.hdr.length = 48 ∧ (m.read [w.take 8, w.drop 8]).1.hdr.length = 0 ∧
      (m.read [w]).2.2.flatten = [] ∧ (m.read [w.take 8, w.drop 8]).2.2.flatten.length = 64) := by
  decide

end Envisilab
