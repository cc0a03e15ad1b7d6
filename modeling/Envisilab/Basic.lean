import Mathlib.Data.Finset.Card
import Mathlib.Logic.Function.Basic

/-!
# Values of the core

The value types that `core/` passes between its components: cell ids and the names of
their broker channels, locations, groups, user filters and cells.

Go's `float64`, `float32` and `int64` fields of a `Location` are kept as their bit
patterns (`UInt64`, `UInt32`): the only code of the core that reads them is the binary
codec, which moves bits. The S2 library is not part of the repository; the two
computations `Cell` asks of it are the fields of `Geometry`, so that every result about
cells holds for whatever S2 returns. A `Cell` here is a value; `Memory` models its
`cellGroup` as the Go slice it is and relates the two.
-/

namespace Envisilab

/-- An `s2.CellID`: a 64-bit hierarchical cell identifier. -/
abbrev CellID := UInt64

/-- `strconv.FormatUint(uint64(cellId), 10)`: the broker channel of a cell. -/
def formatUint (id : CellID) : String := Nat.repr id.toNat

/-- The broker channels of a list of cells, as `SubscribeToCell` names them. -/
def channelNames (ids : List CellID) : Finset String := (ids.map formatUint).toFinset

/-- A `Location`, with each floating point or signed field held as its bit pattern. -/
structure Location where
  lat : UInt64
  lng : UInt64
  alt : UInt32
  heading : UInt32
  timestamp : UInt64
deriving DecidableEq, Repr

/-- A `Group`: the `Uuid` names the group's broker channel. -/
structure Group where
  uuid : String
  name : String
deriving DecidableEq, Repr

/-- A `UserFilter` as a client sends it over the data WebSocket. -/
structure UserFilter where
  type : String
  value : String
deriving DecidableEq, Repr

/-- The two S2 computations a `Cell` makes at the configured level: the cell of a location
(`CellIDFromLatLng(LatLngFromDegrees(lat, lng)).Parent(topologyLevel)`), and the covering of
the search cap around the centre of a cell (`RegionCoverer` with `MinLevel = MaxLevel`). -/
structure Geometry where
  cellIDFromLatLng : Location → CellID
  covering : CellID → List CellID

/-- A `Cell` value: the occupied cell and its neighbourhood covering. -/
structure Cell where
  s2cellID : CellID
  cellGroup : List CellID
deriving DecidableEq, Repr

/-- `MakeCell`: the sentinel cell `0` with an empty covering. -/
def makeCell : Cell := ⟨0, []⟩

namespace Cell

/-- `updateBoundingCells`: recompute the covering around the current cell. -/
def updateBoundingCells (g : Geometry) (c : Cell) : Cell :=
  { c with cellGroup := g.covering c.s2cellID }

/-- `Cell.Changed`: move to the cell of `loc`, reporting whether it differs from the current
one; the covering is recomputed only on a change. -/
def changed (g : Geometry) (loc : Location) (c : Cell) : Bool × Cell :=
  let id := g.cellIDFromLatLng loc
  if id ≠ c.s2cellID then (true, updateBoundingCells g { c with s2cellID := id }) else (false, c)

/-- A changed cell is the cell of the location with that cell's covering. -/
theorem changed_snd_of_fst {g : Geometry} {loc : Location} {c : Cell} (h : (c.changed g loc).1) :
    (c.changed g loc).2 = ⟨g.cellIDFromLatLng loc, g.covering (g.cellIDFromLatLng loc)⟩ := by
  by_cases hc : g.cellIDFromLatLng loc = c.s2cellID <;> simp_all [changed, updateBoundingCells]

end Cell

/-- An `Entity`'s values: its current cell, its location and its groups. The client and token
ids and the subscription pointer are left out; the driver is modelled on its own. -/
structure Entity where
  cell : Cell
  location : Location
  groups : List Group
deriving DecidableEq, Repr

/-- `Entity.Update`: store the location and move the cell, which `Cell.Changed` edits in place;
on a change, also return the copy `cellCpy` that is passed to `setCellFilter`. -/
def Entity.update (g : Geometry) (loc : Location) (e : Entity) : Entity × Option Cell :=
  let r := e.cell.changed g loc
  ({ e with location := loc, cell := r.2 }, if r.1 then some r.2 else none)

/-- `MakeEntity` over a fresh cell: Go's zero location and no groups. `DataStoreContext`'s
`CreateEntity` sets no groups afterwards. -/
def makeEntity : Entity := ⟨makeCell, ⟨0, 0, 0, 0, 0⟩, []⟩

end Envisilab
