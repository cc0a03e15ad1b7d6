import Envisilab.Basic

/-!
# Cells in memory

`Basic` treats a `Cell` as a value. In `core/` it is not one: `cellGroup` is a Go slice, a
header (address of a backing array, length, capacity) over an array in the heap, and
`updateBoundingCells` refills it in place through `c.cellGroup[:0]` and `append`. This file
models that memory: backing arrays at addresses, slice headers over them, `append` with Go's
in-place and reallocating cases, and the `Cell` and `Entity` of `core/cell.go` and
`core/entity.go` as structures holding headers.

Read through the heap, the memory model refines the value model step by step: an
`Entity.Update` reads as the value `Entity.update`, and the copy `cellCpy` it passes to
`setCellFilter` reads, when it is taken, as the value copy (`Entity.update_read`).

The copy does not stay that value. `cellCpy := *e.cell` copies the slice header, not the
array, so every copy shares the entity's backing array. MakeCell gives that array a capacity
of 9 cells, and a covering that fits is written over it in place. From then on, every copy
reads its own cell id together with the covering of the cell the entity is in now
(`World.snapshot_read`).
-/

namespace Envisilab

/-! ## Slices -/

/-- The header of a `[]s2.CellID`: the address of its backing array, its length and its
capacity. -/
structure Slice where
  array : Nat
  len : Nat
  cap : Nat
deriving DecidableEq, Repr

/-- The backing arrays of cell ids: the elements at each address, and the next free one. -/
structure Heap where
  arrays : Nat → List CellID
  next : Nat

namespace Slice

/-- The elements a slice shows: the first `len` of its backing array. -/
def read (h : Heap) (s : Slice) : List CellID := (h.arrays s.array).take s.len

/-- A slice whose backing array holds `cap` elements, no more than `len` of which it shows. -/
structure WellFormed (h : Heap) (s : Slice) : Prop where
  len_le_cap : s.len ≤ s.cap
  length_array : (h.arrays s.array).length = s.cap

end Slice

/-- `append(s, x)`. Within capacity, `x` is written into the backing array after the `len`
elements. Beyond it, the runtime allocates a fresh array with the capacity `growslice` picks
(at least `len + 1`), copies the elements, writes `x` after them and leaves the rest zero. -/
def append (growslice : Nat → Nat) (h : Heap) (s : Slice) (x : CellID) : Heap × Slice :=
  if s.len < s.cap then
    ({ h with arrays := Function.update h.arrays s.array ((h.arrays s.array).set s.len x) },
      { s with len := s.len + 1 })
  else
    let c := max (s.len + 1) (growslice s.cap)
    ({ arrays := Function.update h.arrays h.next
          ((h.arrays s.array).take s.len ++ x :: List.replicate (c - (s.len + 1)) 0)
       next := h.next + 1 }, ⟨h.next, s.len + 1, c⟩)

/-- `for _, x := range xs { s = append(s, x) }`. -/
def appendEach (growslice : Nat → Nat) (h : Heap) (s : Slice) : List CellID → Heap × Slice
  | [] => (h, s)
  | x :: xs => appendEach growslice (append growslice h s x).1 (append growslice h s x).2 xs

section Append

variable (growslice : Nat → Nat) {h : Heap} {s : Slice}

/-- Within capacity `append` keeps the backing array and the capacity. -/
lemma append_snd_of_lt (hs : s.len < s.cap) (x : CellID) :
    (append growslice h s x).2 = { s with len := s.len + 1 } := by
  simp [append, hs]

/-- `append` shows one more element, `x`, and keeps the slice well formed, in place or not. -/
lemma append_read (hw : s.WellFormed h) (x : CellID) :
    (append growslice h s x).2.read (append growslice h s x).1 = s.read h ++ [x] ∧
      (append growslice h s x).2.WellFormed (append growslice h s x).1 := by
  obtain ⟨hle, hlen⟩ := hw
  unfold append
  split_ifs with hs
  · have hlt : s.len < (h.arrays s.array).length := hlen ▸ hs
    refine ⟨?_, ⟨hs, by simp [hlen]⟩⟩
    simp [Slice.read, List.set_eq_take_append_cons_drop, hlt, List.take_append_eq_append_take,
      Nat.min_eq_left hlt.le]
  · have hl : ((h.arrays s.array).take s.len).length = s.len := by simp [hlen, hle]
    refine ⟨?_, ⟨le_max_left _ _, ?_⟩⟩
    · simp [Slice.read, List.take_append_eq_append_take, hl]
    · simp only [Function.update_same, List.length_append, hl, List.length_cons,
        List.length_replicate]
      omega

/-- The loop of `updateBoundingCells` shows the elements appended after the old ones, and
keeps the slice well formed. -/
lemma appendEach_read (xs : List CellID) (hw : s.WellFormed h) :
    (appendEach growslice h s xs).2.read (appendEach growslice h s xs).1 = s.read h ++ xs ∧
      (appendEach growslice h s xs).2.WellFormed (appendEach growslice h s xs).1 := by
  induction xs generalizing h s with
  | nil => exact ⟨by simp [appendEach], hw⟩
  | cons x xs ih =>
    obtain ⟨hr, hw'⟩ := append_read growslice hw x
    obtain ⟨hr', hw''⟩ := ih hw'
    exact ⟨by rw [appendEach, hr', hr, List.append_assoc, List.singleton_append], hw''⟩

/-- When everything appended fits in the capacity, the loop keeps the backing array and the
capacity: it writes in place. -/
lemma appendEach_snd_of_le (xs : List CellID) (hs : s.len + xs.length ≤ s.cap) :
    (appendEach growslice h s xs).2 = { s with len := s.len + xs.length } := by
  induction xs generalizing h s with
  | nil => rfl
  | cons x xs ih =>
    have hlt : s.len < s.cap := by simp at hs; omega
    rw [appendEach, ih (by rw [append_snd_of_lt growslice hlt]; simp at hs ⊢; omega),
      append_snd_of_lt growslice hlt]
    simp only [List.length_cons]
    congr 1
    omega

end Append

/-! ## Cells and entities in memory -/

namespace Mem

/-- A `Cell` in memory: its id and the header of its `cellGroup`. The `config` pointer is left
out. -/
structure Cell where
  s2cellID : CellID
  cellGroup : Slice
deriving DecidableEq, Repr

/-- The value a cell in memory holds. -/
def Cell.read (h : Heap) (c : Cell) : Envisilab.Cell := ⟨c.s2cellID, c.cellGroup.read h⟩

/-- `MakeCell`: the sentinel cell `0`, its `cellGroup` made by `make([]s2.CellID, 0, 9)` at the
next free address. -/
def makeCell (h : Heap) : Heap × Cell :=
  ({ arrays := Function.update h.arrays h.next (List.replicate 9 0), next := h.next + 1 },
    ⟨0, ⟨h.next, 0, 9⟩⟩)

/-- `updateBoundingCells`: `c.cellGroup = c.cellGroup[:0]`, then append each cell of the
covering of the current cell. -/
def Cell.updateBoundingCells (g : Geometry) (growslice : Nat → Nat) (h : Heap) (c : Cell) :
    Heap × Cell :=
  let r := appendEach growslice h { c.cellGroup with len := 0 } (g.covering c.s2cellID)
  (r.1, { c with cellGroup := r.2 })

/-- `Cell.Changed`, which edits the cell in place: on a change of cell, store the new id and
refill the covering. -/
def Cell.changed (g : Geometry) (growslice : Nat → Nat) (loc : Location) (h : Heap) (c : Cell) :
    Bool × Heap × Cell :=
  let id := g.cellIDFromLatLng loc
  if id ≠ c.s2cellID then (true, Cell.updateBoundingCells g growslice h { c with s2cellID := id })
  else (false, h, c)

/-- An `Entity` in memory: the `Cell` its `cell` pointer points to, its location and its
groups. The ids and the subscription pointer are left out. -/
structure Entity where
  cell : Cell
  location : Location
  groups : List Group

/-- The value an entity in memory holds. -/
def Entity.read (h : Heap) (e : Entity) : Envisilab.Entity := ⟨e.cell.read h, e.location, e.groups⟩

/-- `Entity.Update`: store the location and move the cell in place; on a change, return the
copy `cellCpy := *e.cell` passed to `setCellFilter`, which copies the id and the slice header,
not the backing array. -/
def Entity.update (g : Geometry) (growslice : Nat → Nat) (loc : Location) (h : Heap)
    (e : Entity) : (Heap × Entity) × Option Cell :=
  let r := e.cell.changed g growslice loc h
  ((r.2.1, { e with location := loc, cell := r.2.2 }), if r.1 then some r.2.2 else none)

/-- `MakeEntity` over `MakeCell`: Go's zero location and no groups. -/
def makeEntity (h : Heap) : Heap × Entity :=
  ((makeCell h).1, ⟨(makeCell h).2, ⟨0, 0, 0, 0, 0⟩, []⟩)

variable (g : Geometry) (growslice : Nat → Nat) {h : Heap}

@[simp] lemma Cell.updateBoundingCells_s2cellID (c : Cell) :
    (c.updateBoundingCells g growslice h).2.s2cellID = c.s2cellID := rfl

/-- `updateBoundingCells` fills the cell's slice with the covering of its cell and keeps it well
formed. -/
lemma Cell.updateBoundingCells_read (c : Cell) (hw : c.cellGroup.WellFormed h) :
    (c.updateBoundingCells g growslice h).2.cellGroup.read (c.updateBoundingCells g growslice h).1 =
      g.covering c.s2cellID ∧
    (c.updateBoundingCells g growslice h).2.cellGroup.WellFormed
      (c.updateBoundingCells g growslice h).1 := by
  have hw0 : ({ c.cellGroup with len := 0 } : Slice).WellFormed h :=
    ⟨Nat.zero_le _, hw.length_array⟩
  obtain ⟨hr, hw'⟩ := appendEach_read growslice (g.covering c.s2cellID) hw0
  exact ⟨by simpa [Cell.updateBoundingCells, Slice.read] using hr, hw'⟩

/-- A covering that fits in the capacity is written in place: the cell keeps its backing array
and its capacity. -/
lemma Cell.updateBoundingCells_cellGroup {c : Cell}
    (hc : (g.covering c.s2cellID).length ≤ c.cellGroup.cap) :
    (c.updateBoundingCells g growslice h).2.cellGroup =
      { c.cellGroup with len := (g.covering c.s2cellID).length } := by
  simp only [Cell.updateBoundingCells]
  rw [appendEach_snd_of_le growslice _ (by simpa using hc)]
  simp

/-- The memory model refines the value model: read through the heap, `Entity.Update` is the
value `Entity.update`, and the copy it passes to `setCellFilter` is, when taken, the value
copy. -/
theorem Entity.update_read {e : Entity} (hw : e.cell.cellGroup.WellFormed h) (loc : Location) :
    (e.update g growslice loc h).1.2.read (e.update g growslice loc h).1.1 =
      ((e.read h).update g loc).1 ∧
    (e.update g growslice loc h).2.map (Cell.read (e.update g growslice loc h).1.1) =
      ((e.read h).update g loc).2 ∧
    (e.update g growslice loc h).1.2.cell.cellGroup.WellFormed
      (e.update g growslice loc h).1.1 := by
  by_cases hid : g.cellIDFromLatLng loc = e.cell.s2cellID
  · simp [Entity.update, Cell.changed, hid, Entity.read, Envisilab.Entity.update,
      Envisilab.Cell.changed, Cell.read, hw]
  · obtain ⟨hr, hw'⟩ :=
      Cell.updateBoundingCells_read g growslice ⟨g.cellIDFromLatLng loc, e.cell.cellGroup⟩ hw
    simp [Entity.update, Cell.changed, hid, Entity.read, Envisilab.Entity.update,
      Envisilab.Cell.changed, Envisilab.Cell.updateBoundingCells, Cell.read, hr, hw']

/-! ## Copies share the backing array -/

/-- An entity in memory, the heap, and the copies its updates have passed to `setCellFilter`,
oldest first. -/
structure World where
  heap : Heap
  entity : Entity
  snapshots : List Cell

/-- One `Entity.Update` at `loc`. -/
def World.update (loc : Location) (w : World) : World :=
  let r := w.entity.update g growslice loc w.heap
  ⟨r.1.1, r.1.2, w.snapshots ++ r.2.toList⟩

/-- The worlds reached from `MakeEntity` over `MakeCell`, on any heap, by any updates. -/
inductive World.Reachable : World → Prop
  | init (h : Heap) : World.Reachable ⟨(makeEntity h).1, (makeEntity h).2, []⟩
  | update {w : World} (loc : Location) :
      World.Reachable w → World.Reachable (w.update g growslice loc)

/-- An update in the same cell stores the location and nothing else. -/
lemma World.update_of_eq {w : World} {loc : Location}
    (hid : g.cellIDFromLatLng loc = w.entity.cell.s2cellID) :
    w.update g growslice loc = ⟨w.heap, { w.entity with location := loc }, w.snapshots⟩ := by
  simp [World.update, Entity.update, Cell.changed, hid]

/-- An update that changes cell refills the covering in the cell and passes a copy of it. -/
lemma World.update_of_ne {w : World} {loc : Location}
    (hid : g.cellIDFromLatLng loc ≠ w.entity.cell.s2cellID) :
    w.update g growslice loc =
      let r := Cell.updateBoundingCells g growslice w.heap
        ⟨g.cellIDFromLatLng loc, w.entity.cell.cellGroup⟩
      ⟨r.1, { w.entity with location := loc, cell := r.2 }, w.snapshots ++ [r.2]⟩ := by
  simp [World.update, Entity.update, Cell.changed, hid]

/-- What the updates keep while every covering fits in the 9 cells `MakeCell` reserves: the
entity's slice stays on its array with capacity 9 and, once it has moved, shows the covering
of its cell; every copy shares that array and shows as many cells as its own covering has. -/
structure World.Aliased (w : World) : Prop where
  cap : w.entity.cell.cellGroup.cap = 9
  wellFormed : w.entity.cell.cellGroup.WellFormed w.heap
  current : w.snapshots ≠ [] →
    w.entity.cell.cellGroup.read w.heap = g.covering w.entity.cell.s2cellID
  shared : ∀ sn ∈ w.snapshots, sn.cellGroup.array = w.entity.cell.cellGroup.array ∧
    sn.cellGroup.len = (g.covering sn.s2cellID).length

variable {g growslice}

/-- Every update keeps `Aliased`. -/
lemma World.Aliased.update (hg : ∀ id, (g.covering id).length ≤ 9) {w : World}
    (hi : w.Aliased g) (loc : Location) : (w.update g growslice loc).Aliased g := by
  by_cases hid : g.cellIDFromLatLng loc = w.entity.cell.s2cellID
  · rw [World.update_of_eq g growslice hid]
    exact ⟨hi.cap, hi.wellFormed, hi.current, hi.shared⟩
  · rw [World.update_of_ne g growslice hid]
    obtain ⟨hr, hw⟩ := Cell.updateBoundingCells_read g growslice
      ⟨g.cellIDFromLatLng loc, w.entity.cell.cellGroup⟩ hi.wellFormed
    have hcg : (Cell.updateBoundingCells g growslice w.heap
        ⟨g.cellIDFromLatLng loc, w.entity.cell.cellGroup⟩).2.cellGroup =
        { w.entity.cell.cellGroup with len := (g.covering (g.cellIDFromLatLng loc)).length } :=
      Cell.updateBoundingCells_cellGroup g growslice (by rw [hi.cap]; exact hg _)
    refine ⟨by simp [hcg, hi.cap], hw, fun _ => by simpa using hr, fun sn hsn => ?_⟩
    rcases List.mem_append.1 hsn with hsn | hsn
    · rw [hcg]
      exact hi.shared sn hsn
    · rw [List.mem_singleton.1 hsn, hcg]
      simp

/-- Every reachable world is `Aliased`. -/
lemma World.Reachable.aliased (hg : ∀ id, (g.covering id).length ≤ 9) {w : World}
    (h : w.Reachable g growslice) : w.Aliased g := by
  induction h with
  | init h =>
    exact ⟨rfl, ⟨Nat.zero_le _, by simp [makeEntity, makeCell]⟩, fun hn => absurd rfl hn,
      fun _ hsn => absurd hsn (List.not_mem_nil _)⟩
  | update loc _ ih => exact ih.update hg loc

/-- While every covering fits in the 9 cells `MakeCell` reserves, a copy passed to
`setCellFilter` whose covering has as many cells as that of the cell the entity is in now
reads, at any later point, its own cell id with the entity's current covering: each move
of the entity writes over the copy's cells. -/
theorem World.snapshot_read (hg : ∀ id, (g.covering id).length ≤ 9) {w : World}
    (h : w.Reachable g growslice) {sn : Cell} (hsn : sn ∈ w.snapshots)
    (hl : (g.covering sn.s2cellID).length = (g.covering w.entity.cell.s2cellID).length) :
    sn.read w.heap = ⟨sn.s2cellID, g.covering w.entity.cell.s2cellID⟩ := by
  have hi := h.aliased hg
  obtain ⟨ha, hlen⟩ := hi.shared sn hsn
  have hcur := hi.current (List.ne_nil_of_mem hsn)
  have he : w.entity.cell.cellGroup.len = (g.covering w.entity.cell.s2cellID).length := by
    have hle := hi.wellFormed.len_le_cap
    rw [← hcur, Slice.read, List.length_take, hi.wellFormed.length_array]
    omega
  have hsr : sn.cellGroup.read w.heap = w.entity.cell.cellGroup.read w.heap := by
    simp only [Slice.read, ha, hlen, hl, he]
  simp [Cell.read, hsr, hcur]

/-- Two cells, 5 and 6, each its own covering: a location of latitude bits 0 is in cell 5, any
other in cell 6. -/
def fiveOrSix : Geometry := ⟨fun loc => if loc.lat = 0 then 5 else 6, fun id => [id]⟩

/-- An entity moves into cell 5 and then into cell 6. The copy passed to `setCellFilter` on the
first move reads cell 5 with its covering `[5]` when it is taken, and cell 5 with the covering
`[6]` of cell 6 after the second move. -/
theorem moved_snapshot_read :
    (let w₁ := World.update fiveOrSix (2 * ·) ⟨0, 0, 0, 0, 0⟩
      ⟨(makeEntity ⟨fun _ => [], 0⟩).1, (makeEntity ⟨fun _ => [], 0⟩).2, []⟩
    let w₂ := w₁.update fiveOrSix (2 * ·) ⟨1, 0, 0, 0, 0⟩
    let sn : Cell := ⟨5, ⟨0, 1, 9⟩⟩
    (∀ id, (fiveOrSix.covering id).length ≤ 9) ∧ w₂.Reachable fiveOrSix (2 * ·) ∧
      sn ∈ w₂.snapshots ∧
      (fiveOrSix.covering sn.s2cellID).length =
        (fiveOrSix.covering w₂.entity.cell.s2cellID).length ∧
      sn.read w₂.heap = ⟨sn.s2cellID, fiveOrSix.covering w₂.entity.cell.s2cellID⟩ ∧
      sn.read w₁.heap = ⟨5, [5]⟩ ∧ sn.read w₂.heap = ⟨5, [6]⟩) :=
  have hg : ∀ id, (fiveOrSix.covering id).length ≤ 9 := fun _ => by simp [fiveOrSix]
  ⟨hg, .update _ (.update _ (.init _)), by decide, rfl,
    World.snapshot_read hg (.update _ (.update _ (.init _))) (by decide) rfl, by decide, by decide⟩

end Mem

end Envisilab
